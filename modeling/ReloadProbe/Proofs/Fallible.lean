/-! Steps that may fail, taken apart: a sequence of them succeeds if each does. -/
namespace Except

variable {ε ε' α β : Type}

theorem bind_eq_ok {x : Except ε α} {f : α → Except ε β} {b : β} :
    (x >>= f) = .ok b ↔ ∃ a, x = .ok a ∧ f a = .ok b := by
  cases x <;> simp [Bind.bind, Except.bind]

theorem bind_eq_error {x : Except ε α} {f : α → Except ε β} {e : ε} :
    (x >>= f) = .error e ↔ x = .error e ∨ ∃ a, x = .ok a ∧ f a = .error e := by
  cases x <;> simp [Bind.bind, Except.bind]

theorem mapError_eq_ok {x : Except ε α} {f : ε → ε'} {a : α} :
    x.mapError f = .ok a ↔ x = .ok a := by
  cases x with
  | ok b =>
    show (ok b : Except ε' α) = ok a ↔ (ok b : Except ε α) = ok a
    rw [ok.injEq, ok.injEq]
  | error e =>
    show (error (f e) : Except ε' α) = ok a ↔ (error e : Except ε α) = ok a
    simp only [reduceCtorEq]

theorem eq_ok_get {x : Except ε α} (fine : x.toOption.isSome) : x = .ok (x.toOption.get fine) := by
  cases x with
  | ok a => rfl
  | error e => cases fine

theorem exists_eq_error {x : Except ε α} (failed : x.toOption.isNone) : ∃ e, x = .error e := by
  cases x with
  | ok a => cases failed
  | error e => exact ⟨e, rfl⟩

theorem toOption_eq_some {x : Except ε α} {a : α} : x.toOption = some a ↔ x = .ok a := by
  cases x <;> simp [Except.toOption]

def error? : Except ε α → Option ε
  | ok _ => none
  | error e => some e

theorem error?_eq_some {x : Except ε α} {e : ε} : x.error? = some e ↔ x = .error e := by
  cases x <;> simp [error?]

end Except
