import Mathlib.Tactic.ByContra
import Rsbtd.Transition.Runs

/-!
# Systems that run down

`Drains step ok holds remaining final`: the allowed steps keep `holds` and lower
`remaining`, and one is enabled unless the state is `final`.  Every replay is then
at most as long as `remaining` allows, and one that cannot go on has ended in a
final state.  With `Settles` this is so of the steps that count.
-/

namespace Rsbtd.Transition

variable {σ α : Type*} {step : σ → α → Option σ} {ok : σ → α → Bool} {holds final : σ → Prop}
  {remaining : σ → Nat} {s t : σ} {as : List α}

/-- As `Drains`, but only some of the steps count; the others do not raise `remaining`. -/
structure Settles (step : σ → α → Option σ) (ok : σ → α → Bool) (counts : α → Bool)
    (holds : σ → Prop) (remaining : σ → Nat) (final : σ → Prop) : Prop where
  kept : ∀ s a t, holds s → ok s a = true → step s a = some t → holds t
  lowers : ∀ s a t, holds s → ok s a = true → step s a = some t →
    (counts a).toNat + remaining t ≤ remaining s
  enabled : ∀ s, holds s → ¬ final s → ∃ a t, ok s a = true ∧ counts a = true ∧ step s a = some t

namespace Settles

variable {counts : α → Bool}

theorem exec (settles : Settles step ok counts holds remaining final) (start : holds s)
    (replayed : Transition.exec step ok s as = some t) :
    holds t ∧ as.countP counts + remaining t ≤ remaining s := by
  induction as generalizing s with
  | nil =>
    obtain rfl := Option.some.inj replayed
    exact ⟨start, by simp⟩
  | cons a as ih =>
    obtain ⟨allowed, replayed⟩ := Option.ite_none_right_eq_some.mp replayed
    obtain ⟨u, stepped, rest⟩ := Option.bind_eq_some_iff.mp replayed
    have lower := settles.lowers s a u start allowed stepped
    obtain ⟨held, bound⟩ := ih (settles.kept s a u start allowed stepped) rest
    refine ⟨held, ?_⟩
    cases counted : counts a with
    | true =>
      rw [counted, Bool.toNat_true] at lower
      rw [List.countP_cons_of_pos counted]
      omega
    | false =>
      rw [counted, Bool.toNat_false] at lower
      rw [List.countP_cons_of_neg (by simp [counted])]
      omega

theorem countP_le (settles : Settles step ok counts holds remaining final) (start : holds s)
    (replayed : Transition.exec step ok s as = some t) : as.countP counts ≤ remaining s := by
  have bound := (settles.exec start replayed).2
  omega

/-- A replay that cannot be continued is complete. -/
theorem final_of_stuck (settles : Settles step ok counts holds remaining final) (start : holds s)
    (replayed : Transition.exec step ok s as = some t)
    (stuck : ∀ a, ok t a = true → counts a = true → step t a = none) : final t := by
  by_contra unfinished
  obtain ⟨a, u, allowed, counted, stepped⟩ :=
    settles.enabled t (settles.exec start replayed).1 unfinished
  rw [stuck a allowed counted] at stepped
  cases stepped

end Settles

structure Drains (step : σ → α → Option σ) (ok : σ → α → Bool) (holds : σ → Prop)
    (remaining : σ → Nat) (final : σ → Prop) : Prop where
  kept : ∀ s a t, holds s → ok s a = true → step s a = some t → holds t
  lowers : ∀ s a t, holds s → ok s a = true → step s a = some t → remaining t < remaining s
  enabled : ∀ s, holds s → ¬ final s → ∃ a t, ok s a = true ∧ step s a = some t

namespace Drains

theorem settles (drains : Drains step ok holds remaining final) :
    Settles step ok (fun _ => true) holds remaining final where
  kept := drains.kept
  lowers s a t held allowed stepped := by
    have lower := drains.lowers s a t held allowed stepped
    simp only [Bool.toNat_true]
    omega
  enabled s held unfinished := by
    obtain ⟨a, t, allowed, stepped⟩ := drains.enabled s held unfinished
    exact ⟨a, t, allowed, rfl, stepped⟩

theorem length_le (drains : Drains step ok holds remaining final) (start : holds s)
    (replayed : Transition.exec step ok s as = some t) : as.length ≤ remaining s := by
  simpa using drains.settles.countP_le start replayed

/-- A replay that cannot be continued is complete. -/
theorem final_of_stuck (drains : Drains step ok holds remaining final) (start : holds s)
    (replayed : Transition.exec step ok s as = some t)
    (stuck : ∀ a, ok t a = true → step t a = none) : final t :=
  drains.settles.final_of_stuck start replayed fun a allowed _ => stuck a allowed

end Drains

end Rsbtd.Transition
