import Mathlib.Data.List.Basic

/-!
# Rules for the error monad

How a sequence of fallible steps computes, and what each outcome of it says
about its steps.
-/

namespace ExceptRules

variable {ε α β : Type}

@[simp]
theorem pure_eq_ok (value : α) : (pure value : Except ε α) = .ok value :=
  rfl

@[simp]
theorem ok_bind (value : α) (next : α → Except ε β) :
    (Except.ok value >>= next) = next value :=
  rfl

@[simp]
theorem error_bind (error : ε) (next : α → Except ε β) :
    (Except.error error >>= next) = .error error :=
  rfl

@[simp]
theorem map_ok (value : α) (function : α → β) :
    (function <$> (Except.ok value : Except ε α)) = .ok (function value) :=
  rfl

theorem bind_eq_ok {first : Except ε α} {next : α → Except ε β} {result : β} :
    (first >>= next) = .ok result ↔ ∃ value, first = .ok value ∧ next value = .ok result := by
  cases first <;> simp

theorem mapError_eq_ok {ε' : Type} {result : Except ε α} {convert : ε → ε'} {value : α} :
    result.mapError convert = .ok value ↔ result = .ok value := by
  cases result <;> simp [Except.mapError]

theorem toOption_eq_some {result : Except ε α} {value : α} :
    result.toOption = some value ↔ result = .ok value := by
  cases result <;> simp [Except.toOption]

theorem unit_eq_ok_iff {outcome : Except ε Unit} :
    outcome = .ok () ↔ ¬ ∃ error, outcome = .error error := by
  cases outcome with
  | ok value => simp
  | error error => simp

end ExceptRules
