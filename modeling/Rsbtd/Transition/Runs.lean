import Mathlib.Logic.Basic

/-!
# Runs of a guarded step function

A system is a partial step function `step : σ → α → Option σ` on a state type,
with an action per atomic step of one of its tasks.  `Run step ok s t` is a
finite interleaving from `s` to `t` in which every action satisfies `ok` in the
state it is taken from.  `ok` carries what a result assumes about the
environment, or the condition under which it holds.

`exec` replays a list of actions, so a concrete interleaving is found by
evaluation and turned into a `Run` by `exists_run_of_exec`.
-/

namespace Rsbtd.Transition

variable {σ α : Type*} {step : σ → α → Option σ}

/-- A finite run from `s` whose every step is enabled and allowed by `ok`. -/
inductive Run (step : σ → α → Option σ) (ok : σ → α → Prop) (s : σ) : σ → Prop where
  | refl : Run step ok s s
  | tail {t u : σ} {a : α} : Run step ok s t → ok t a → step t a = some u → Run step ok s u

namespace Run

variable {ok ok' : σ → α → Prop} {s t u : σ}

/-- What holds at the start and is kept by every step of the run holds at its
end.  The step case may use that its source state was reached. -/
theorem invariant {I : σ → Prop} (start : I s)
    (kept : ∀ t a u, Run step ok s t → I t → ok t a → step t a = some u → I u)
    (run : Run step ok s u) : I u := by
  induction run with
  | refl => exact start
  | tail reached allowed stepped ih => exact kept _ _ _ reached ih allowed stepped

theorem trans (first : Run step ok s t) (second : Run step ok t u) : Run step ok s u := by
  induction second with
  | refl => exact first
  | tail _ allowed stepped ih => exact .tail ih allowed stepped

/-- A run under a stronger condition is a run under a weaker one. -/
theorem mono (weaker : ∀ t a, ok t a → ok' t a) (run : Run step ok s u) : Run step ok' s u := by
  induction run with
  | refl => exact .refl
  | tail _ allowed stepped ih => exact .tail ih (weaker _ _ allowed) stepped

theorem single {a : α} (allowed : ok s a) (stepped : step s a = some t) : Run step ok s t :=
  .tail .refl allowed stepped

end Run

/-- Replay a list of actions; `none` as soon as one is not allowed or not enabled. -/
def exec (step : σ → α → Option σ) (ok : σ → α → Bool) : σ → List α → Option σ
  | s, [] => some s
  | s, a :: as => if ok s a then (step s a).bind (exec step ok · as) else none

theorem exec_append {ok : σ → α → Bool} {s : σ} {as bs : List α} :
    exec step ok s (as ++ bs) = (exec step ok s as).bind (exec step ok · bs) := by
  induction as generalizing s with
  | nil => rfl
  | cons a as ih =>
    simp only [List.cons_append, exec]
    split
    · rw [Option.bind_assoc]
      congr 1
      funext t
      exact ih
    · rfl

theorem run_of_exec {ok : σ → α → Bool} : ∀ {s t : σ} {as : List α},
    exec step ok s as = some t → Run step (fun s a => ok s a = true) s t
  | s, t, [], replayed => by
    simp only [exec, Option.some.injEq] at replayed
    exact replayed ▸ .refl
  | s, t, a :: as, replayed => by
    simp only [exec] at replayed
    split at replayed
    case isTrue allowed =>
      obtain ⟨u, stepped, rest⟩ := Option.bind_eq_some_iff.mp replayed
      have first : Run step (fun s a => ok s a = true) s u := .single allowed stepped
      exact first.trans (run_of_exec rest)
    case isFalse => cases replayed

/-- A replay that ends in a state satisfying `p` witnesses a run to such a state. -/
theorem exists_run_of_exec {ok : σ → α → Bool} {s : σ} {as : List α} {p : σ → Bool}
    (replayed : (exec step ok s as).map p = some true) :
    ∃ t, Run step (fun s a => ok s a = true) s t ∧ p t = true := by
  obtain ⟨t, reached, holds⟩ := Option.map_eq_some_iff.mp replayed
  exact ⟨t, run_of_exec reached, holds⟩

end Rsbtd.Transition
