import Mathlib.Algebra.Ring.Nat

/-!
# Numbers with a fixed number of digits

The digits of a number in a base, the highest first and as many as asked for.
-/

namespace Rsbtd.Bits

def ofDigits (base : Nat) (digits : List Nat) : Nat := digits.foldl (fun n d => base * n + d) 0

def digitsOf (base : Nat) : Nat → Nat → List Nat
  | 0, _ => []
  | size + 1, n => digitsOf base size (n / base) ++ [n % base]

variable {base size n d : Nat} {ds : List Nat}

theorem ofDigits_concat : ofDigits base (ds ++ [d]) = base * ofDigits base ds + d := by
  rw [ofDigits, List.foldl_append]
  rfl

@[simp] theorem length_digitsOf : (digitsOf base size n).length = size := by
  induction size generalizing n with
  | zero => rfl
  | succ size ih => simp [digitsOf, ih]

theorem digitsOf_lt (positive : 0 < base) : ∀ d ∈ digitsOf base size n, d < base := by
  induction size generalizing n with
  | zero => simp [digitsOf]
  | succ size ih =>
    intro d listed
    rw [digitsOf, List.mem_append, List.mem_singleton] at listed
    cases listed with
    | inl higher => exact ih d higher
    | inr lowest => exact lowest ▸ Nat.mod_lt n positive

theorem ofDigits_digitsOf (fits : n < base ^ size) : ofDigits base (digitsOf base size n) = n := by
  induction size generalizing n with
  | zero =>
    have : n = 0 := by simpa using fits
    subst this
    rfl
  | succ size ih =>
    have quotient : n / base < base ^ size := by
      rw [Nat.pow_succ, Nat.mul_comm] at fits
      exact Nat.div_lt_of_lt_mul fits
    rw [digitsOf, ofDigits_concat, ih quotient, Nat.div_add_mod]

end Rsbtd.Bits
