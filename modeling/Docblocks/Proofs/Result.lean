/-!
Results that come from other results.

A result that is mapped or bound succeeds exactly if each step of it does, and fails with the fault
of its first step that fails.
-/

set_option autoImplicit false
set_option relaxedAutoImplicit false

namespace Except

variable {ε ε' α β : Type} {e : Except ε α} {f : ε}

theorem map_eq_ok {g : α → β} {b : β} : e.map g = .ok b ↔ ∃ a, e = .ok a ∧ g a = b := by
  cases e with
  | error f => simp [Except.map]
  | ok a => simp [Except.map]

theorem map_eq_error {g : α → β} : e.map g = .error f ↔ e = .error f := by
  cases e with
  | error f => simp [Except.map]
  | ok a => simp [Except.map]

theorem exists_map_eq_ok {g : α → β} : (∃ b, e.map g = .ok b) ↔ ∃ a, e = .ok a := by
  cases e with
  | error f => simp [Except.map]
  | ok a => simp [Except.map]

theorem exists_eq_error : (∃ f, e = .error f) ↔ ¬∃ a, e = .ok a := by
  cases e with
  | error f => simp
  | ok a => simp

theorem mapError_eq_ok {g : ε → ε'} {a : α} : e.mapError g = .ok a ↔ e = .ok a := by
  cases e with
  | error f => exact iff_of_false (fun h => nomatch h) (fun h => nomatch h)
  | ok b =>
    constructor
    · intro h
      exact congrArg ok (ok.inj h)
    · intro h
      exact congrArg ok (ok.inj h)

theorem bind_eq_ok {g : α → Except ε β} {b : β} :
    (e >>= g) = .ok b ↔ ∃ a, e = .ok a ∧ g a = .ok b := by
  cases e with
  | error f => simp [bind, Except.bind]
  | ok a => simp [bind, Except.bind]

theorem bind_eq_error {g : α → Except ε β} :
    (e >>= g) = .error f ↔ e = .error f ∨ ∃ a, e = .ok a ∧ g a = .error f := by
  cases e with
  | error f => simp [bind, Except.bind]
  | ok a => simp [bind, Except.bind]

end Except
