import Rsbtd.Transition.Runs

/-!
# Runs with a log

`logged step observe` takes the steps of `step` and keeps, next to the state,
what `observe` saw of each of them, oldest first.  The log is read by nothing:
its runs are the runs of `step`.
-/

namespace Rsbtd.Transition

variable {σ α β : Type*} {step : σ → α → Option σ} {observe : σ → α → Option β}

def logged (step : σ → α → Option σ) (observe : σ → α → Option β) (s : σ × List β) (a : α) :
    Option (σ × List β) :=
  (step s.1 a).map fun t => (t, s.2 ++ (observe s.1 a).toList)

theorem logged_eq_some {s t : σ × List β} {a : α} :
    logged step observe s a = some t ↔
      step s.1 a = some t.1 ∧ t.2 = s.2 ++ (observe s.1 a).toList := by
  obtain ⟨t, log⟩ := t
  constructor
  · intro stepped
    obtain ⟨next, taken, same⟩ := Option.map_eq_some_iff.mp stepped
    cases same
    exact ⟨taken, rfl⟩
  · rintro ⟨stepped, rfl⟩
    exact Option.map_eq_some_iff.mpr ⟨t, stepped, rfl⟩

namespace Run

variable {ok : σ → α → Prop}

theorem unlogged {s t : σ × List β} (run : Run (logged step observe) (fun s a => ok s.1 a) s t) :
    Run step ok s.1 t.1 := by
  induction run with
  | refl => exact .refl
  | tail _ allowed stepped ih => exact .tail ih allowed (logged_eq_some.mp stepped).1

end Run

end Rsbtd.Transition
