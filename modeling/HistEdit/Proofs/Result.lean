/-!
Results that may be errors. What is made of a result is a value exactly when the result is one, and
so on for each way to make something of it.
-/

namespace HistEdit

variable {ε α β : Type} {result : Except ε α}

theorem map_eq_ok_iff {f : α → β} {b : β} :
    result.map f = .ok b ↔ ∃ a, result = .ok a ∧ f a = b := by
  cases result <;> simp [Except.map]

theorem map_eq_error_iff {f : α → β} {error : ε} :
    result.map f = .error error ↔ result = .error error := by
  cases result <;> simp [Except.map]

theorem except_bind_eq_ok_iff {next : α → Except ε β} {b : β} :
    (result >>= next) = .ok b ↔ ∃ a, result = .ok a ∧ next a = .ok b := by
  cases result <;> simp [bind, Except.bind]

/-- A result that is seen through a view is a value with that view. -/
theorem exists_ok_of_toOption (result : Except ε α) (view : α → β) {b : β}
    (h : result.toOption.map view = some b) : ∃ value, result = .ok value ∧ view value = b := by
  cases result with
  | error error => simp [Except.toOption] at h
  | ok value => exact ⟨value, rfl, by simpa [Except.toOption] using h⟩

end HistEdit
