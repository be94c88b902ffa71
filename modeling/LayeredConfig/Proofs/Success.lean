/-!
# Success of steps that may fail

A sequence of steps in `Except` succeeds if every step does.  These lemmas take
a successful computation apart step by step.

Main statements: `bind_eq_ok`, `foldlM_keeps`.
-/

namespace LayeredConfig.Success

variable {ε ε' α β σ ι : Type}

@[simp] theorem pure_eq_ok {a b : α} : (pure a : Except ε α) = .ok b ↔ a = b := by
  simp [pure, Except.pure]

@[simp] theorem bind_eq_ok {x : Except ε α} {next : α → Except ε β} {b : β} :
    (x >>= next) = .ok b ↔ ∃ a, x = .ok a ∧ next a = .ok b := by
  cases x <;> simp [bind, Except.bind]

@[simp] theorem map_eq_ok {f : α → β} {x : Except ε α} {b : β} :
    f <$> x = .ok b ↔ ∃ a, x = .ok a ∧ f a = b := by
  cases x <;> simp [Functor.map, Except.map]

@[simp] theorem mapError_eq_ok {x : Except ε α} {f : ε → ε'} {a : α} :
    x.mapError f = .ok a ↔ x = .ok a := by
  cases x with
  | ok b =>
      show Except.ok b = .ok a ↔ _
      simp
  | error e =>
      show Except.error (f e) = .ok a ↔ _
      simp

theorem exists_ok_of_toBool (result : Except ε α) (success : result.toBool = true) :
    ∃ a, result = .ok a := by
  cases result with
  | ok a => exact ⟨a, rfl⟩
  | error f => contradiction

theorem exists_ok_of_any (result : Except ε α) (test : α → Bool)
    (success : result.toOption.any test = true) : ∃ a, result = .ok a ∧ test a = true := by
  cases result with
  | ok a => exact ⟨a, rfl, success⟩
  | error f => contradiction

/-- What every step of a loop keeps, the loop keeps. -/
theorem foldlM_keeps (Good : σ → Prop) {step : σ → ι → Except ε σ} {items : List ι} {s s' : σ}
    (each : ∀ t i t', Good t → step t i = .ok t' → Good t') (good : Good s)
    (loop : items.foldlM step s = .ok s') : Good s' := by
  induction items generalizing s with
  | nil =>
      rw [List.foldlM_nil, pure_eq_ok] at loop
      rwa [← loop]
  | cons i rest ih =>
      rw [List.foldlM_cons, bind_eq_ok] at loop
      obtain ⟨t, first, later⟩ := loop
      exact ih (each s i t good first) later

end LayeredConfig.Success
