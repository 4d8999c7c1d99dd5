/-
  Feedcast.Lib.Except — calls in sequence, any of which can fail.

    • `except_bind_ok` — the sequence succeeds if each of its parts does,
    • `except_bind_error` — it fails where the first of its parts does,
    • `except_map_ok` — what is done with a result does not fail,
    • `except_ok_or_error` — a call fails exactly if it does not succeed,
    • `except_toOption_eq_some` — the result of a call, as an option.
-/
import Mathlib.Logic.Basic

namespace Feedcast.Lib

variable {ε : Type*} {α β : Type} {x : Except ε α}

theorem except_bind_ok {f : α → Except ε β} {b : β} :
    (x >>= f) = .ok b ↔ ∃ a, x = .ok a ∧ f a = .ok b := by
  cases x with
  | error e => simp [bind, Except.bind]
  | ok a => simp [bind, Except.bind]

theorem except_bind_error {f : α → Except ε β} {e : ε} :
    (x >>= f) = .error e ↔ x = .error e ∨ ∃ a, x = .ok a ∧ f a = .error e := by
  cases x with
  | error e' => simp [bind, Except.bind]
  | ok a => simp [bind, Except.bind]

theorem except_map_ok {f : α → β} {b : β} : x.map f = .ok b ↔ ∃ a, x = .ok a ∧ f a = b := by
  cases x with
  | error e => simp [Except.map]
  | ok a => simp [Except.map]

theorem except_ok_or_error : (∃ e, x = .error e) ↔ ¬ ∃ a, x = .ok a := by
  cases x with
  | error e => simp
  | ok a => simp

theorem except_toOption_eq_some {a : α} : x.toOption = some a ↔ x = .ok a := by
  cases x with
  | error e => simp [Except.toOption]
  | ok b => simp [Except.toOption]

end Feedcast.Lib
