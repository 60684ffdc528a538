import Mathlib.Logic.Basic

/-!
# Checks in sequence

A validator is a list of checks and loops in `Except`: the first one that fails
gives the error.  The lemmas take a successful run apart, one equation for each
way the steps are put together.
-/

namespace Rsbtd.Checks

variable {ε α β : Type}

/-- Fails with `error` unless `good`. -/
def require (good : Prop) [Decidable good] (error : ε) : Except ε Unit :=
  if good then .ok () else .error error

@[simp] theorem require_eq_ok {good : Prop} [Decidable good] {error : ε} {u : Unit} :
    require good error = .ok u ↔ good := by
  unfold require
  split <;> simp_all

theorem require_eq_error {good : Prop} [Decidable good] {error e : ε} :
    require good error = .error e ↔ ¬ good ∧ error = e := by
  unfold require
  split <;> simp_all

theorem bind_eq_ok {x : Except ε α} {f : α → Except ε β} {b : β} :
    (x >>= f) = .ok b ↔ ∃ a, x = .ok a ∧ f a = .ok b := by
  cases x with
  | error e => simp [bind, Except.bind]
  | ok a => simp [bind, Except.bind]

theorem bind_eq_error {x : Except ε α} {f : α → Except ε β} {e : ε} :
    (x >>= f) = .error e ↔ x = .error e ∨ ∃ a, x = .ok a ∧ f a = .error e := by
  cases x with
  | error e' => simp [bind, Except.bind]
  | ok a => simp [bind, Except.bind]

theorem foldlM_nil_eq_ok {step : β → α → Except ε β} {b c : β} :
    List.foldlM step b [] = .ok c ↔ b = c := by
  show Except.ok b = .ok c ↔ _
  rw [Except.ok.injEq]

theorem foldlM_cons_eq_ok {step : β → α → Except ε β} {b c : β} {a : α} {rest : List α} :
    List.foldlM step b (a :: rest) = .ok c ↔
      ∃ next, step b a = .ok next ∧ List.foldlM step next rest = .ok c := by
  rw [List.foldlM_cons, bind_eq_ok]

end Rsbtd.Checks
