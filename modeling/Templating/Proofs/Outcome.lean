/-!
# Actions that may fail

An action followed by another one gives a result, or fails, in as many ways as the
two of them.
-/

namespace Templating

variable {ε α β : Type}

theorem ok_bind (value : α) (next : α → Except ε β) : .ok value >>= next = next value := rfl

/-- Two actions succeed together when the second one succeeds on the result of
the first one. -/
theorem bind_eq_ok
    (action : Except ε α)
    (next : α → Except ε β)
    (result : β) :
    action >>= next = .ok result ↔
      ∃ value, action = .ok value ∧ next value = .ok result := by
  cases action <;> simp [bind, Except.bind]

/-- Two actions fail together when the first one fails, or the second one on the result
of the first one. -/
theorem bind_eq_error
    (action : Except ε α)
    (next : α → Except ε β)
    (error : ε) :
    action >>= next = .error error ↔
      action = .error error ∨ ∃ value, action = .ok value ∧ next value = .error error := by
  cases action <;> simp [bind, Except.bind]

/-- Of two actions that fail together either the first one fails or the second
one. -/
theorem bind_error
    {action : Except ε α}
    {next : α → Except ε β}
    {error : ε}
    (failed : action >>= next = .error error) :
    action = .error error ∨ ∃ value, next value = .error error := by
  obtain first | ⟨value, -, second⟩ := (bind_eq_error ..).1 failed
  · exact .inl first
  · exact .inr ⟨value, second⟩

end Templating
